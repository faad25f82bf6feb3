import DeskCalc.Proofs.Decimal.Notation
import DeskCalc.Proofs.Outcome
import DeskCalc.Expression.Lexeme

/-!
# Scanning piece by piece

A text is scanned from left to right, and only a run of digits and points is looked at as a whole.
So a scan falls apart wherever no run goes on, and what it finds moves with the text. This file
fixes

* the equations of `scanFrom`, one for each way a text can begin;
* `Apart`: two texts with no run across, and **`scanFrom_append`**: the scan of both;
* `relocate`: a scan with its places moved, and **`relocate_scanFrom`**: the scan of the same text
  somewhere else;
* `content`: what a scan says apart from places, and `content_scanFrom`: it is the same at every
  place;
* `readable_of_scanFrom`: the characters of a text that can be scanned;
* `scanFrom_positional`: a number in positional notation is one lexeme.
-/

namespace DeskCalc

namespace Lexeme

/-! ## 1. How a text begins -/

variable {c : Char} {rest : List Char} {position : Nat}

theorem scanFrom_nil (position : Nat) : scanFrom position [] = .ok [] := by
  rw [scanFrom]

theorem scanFrom_blank (h : Text.isBlank c = true) :
    scanFrom position (c :: rest) = scanFrom (position + 1) rest := by
  rw [scanFrom, if_pos h]

theorem scanFrom_fault (hblank : ¬Text.isBlank c = true) (h : isNumeral c = true)
    {fault : ExpressionError}
    (hfault : numeralFault? (c :: rest.takeWhile isNumeral) position = some fault) :
    scanFrom position (c :: rest) = .error fault := by
  rw [scanFrom, if_neg hblank, if_pos h]
  simp only [hfault]

theorem scanFrom_numeral (hblank : ¬Text.isBlank c = true) (h : isNumeral c = true)
    (hfault : numeralFault? (c :: rest.takeWhile isNumeral) position = none) :
    scanFrom position (c :: rest) =
      (scanFrom (position + (c :: rest.takeWhile isNumeral).length)
        (rest.dropWhile isNumeral)).map
        (⟨.number (c :: rest.takeWhile isNumeral), position⟩ :: ·) := by
  rw [scanFrom, if_neg hblank, if_pos h]
  simp only [hfault]

theorem scanFrom_token (hblank : ¬Text.isBlank c = true) (h : ¬isNumeral c = true) {token : Token}
    (htoken : Token.ofChar? c = some token) :
    scanFrom position (c :: rest) =
      (scanFrom (position + 1) rest).map (⟨token, position⟩ :: ·) := by
  rw [scanFrom, if_neg hblank, if_neg h]
  simp only [htoken]

theorem scanFrom_invalid (hblank : ¬Text.isBlank c = true) (h : ¬isNumeral c = true)
    (htoken : Token.ofChar? c = none) :
    scanFrom position (c :: rest) = .error (.invalidCharacter c position) := by
  rw [scanFrom, if_neg hblank, if_neg h]
  simp only [htoken]

/-! ## 2. Cutting a text -/

/-- No run of digits and points goes on from one text into the other. -/
def Apart (before behind : List Char) : Prop :=
  ∀ c ∈ before.getLast?, ∀ d ∈ behind.head?, isNumeral c = true → isNumeral d = false

theorem apart_cons {d : Char} (h : isNumeral d = false) (before rest : List Char) :
    Apart before (d :: rest) := by
  intro c _ e he _
  cases he
  exact h

theorem singleton_apart {c : Char} (h : isNumeral c = false) (behind : List Char) :
    Apart [c] behind := by
  intro d hd e _ hnumeral
  cases hd
  rw [show isNumeral c = true from hnumeral] at h
  cases h

theorem Apart.of_append (xs : List Char) {ys zs : List Char} (h : Apart (xs ++ ys) zs) :
    Apart ys zs := by
  intro c hc
  refine h c ?_
  rw [List.getLast?_append, hc]
  rfl

theorem Apart.append {xs ys zs : List Char} (h : Apart xs (ys ++ zs)) (h' : Apart ys zs) :
    Apart (xs ++ ys) zs := by
  cases ys with
  | nil => rwa [List.append_nil]
  | cons y ys =>
    intro c hc
    refine h' c ?_
    rw [List.getLast?_append, List.getLast?_cons] at hc
    rwa [List.getLast?_cons]

/-- Behind a digit or a point, a run ends at the latest where the texts are apart. -/
theorem span_append {c : Char} {xs ys : List Char} (hc : isNumeral c = true)
    (h : Apart (c :: xs) ys) :
    (xs ++ ys).takeWhile isNumeral = xs.takeWhile isNumeral ∧
      (xs ++ ys).dropWhile isNumeral = xs.dropWhile isNumeral ++ ys := by
  induction xs generalizing c with
  | nil =>
    cases ys with
    | nil => exact ⟨rfl, rfl⟩
    | cons d ys =>
      have hd : isNumeral d = false := h c rfl d rfl hc
      simp [hd]
  | cons x xs ih =>
    have hx : Apart (x :: xs) ys := Apart.of_append [c] h
    by_cases hnumeral : isNumeral x = true
    · simp [hnumeral, ih hnumeral hx]
    · simp [hnumeral]

theorem length_takeWhile_add_dropWhile (text : List Char) :
    (text.takeWhile isNumeral).length + (text.dropWhile isNumeral).length = text.length := by
  rw [← List.length_append, List.takeWhile_append_dropWhile]

/-- **A scan falls apart wherever no run of digits and points goes on.** -/
theorem scanFrom_append {before behind : List Char} (happart : Apart before behind)
    (position : Nat) :
    scanFrom position (before ++ behind) =
      (scanFrom position before).bind fun lexemes =>
        (scanFrom (position + before.length) behind).map (lexemes ++ ·) := by
  have hmap (lexeme : Lexeme) (scanned : Except ExpressionError (List Lexeme))
      (rest : Except ExpressionError (List Lexeme)) :
      (scanned.bind fun lexemes => rest.map (lexemes ++ ·)).map (lexeme :: ·) =
        (scanned.map (lexeme :: ·)).bind fun lexemes => rest.map (lexemes ++ ·) := by
    cases scanned <;> cases rest <;> rfl
  fun_induction scanFrom position before with
  | case1 position =>
    show scanFrom position behind = (scanFrom position behind).map _
    cases scanFrom position behind <;> rfl
  | case2 position c rest hblank ih =>
    rw [List.cons_append, scanFrom_blank hblank, ih (Apart.of_append [c] happart),
      List.length_cons, Nat.add_assoc position, Nat.add_comm 1]
  | case3 position c rest hblank h run fault hfault =>
    rw [List.cons_append, scanFrom_fault hblank h (by rwa [(span_append h happart).1])]
    rfl
  | case4 position c rest hblank h run hfault ih =>
    obtain ⟨htake, hdrop⟩ := span_append h happart
    have hrest : Apart (rest.dropWhile isNumeral) behind := by
      refine Apart.of_append (c :: rest.takeWhile isNumeral) ?_
      rwa [List.cons_append, List.takeWhile_append_dropWhile]
    rw [List.cons_append, scanFrom_numeral hblank h (by rwa [htake]), htake, hdrop, ih hrest, hmap]
    have hlength := length_takeWhile_add_dropWhile rest
    rw [show position + run.length + (rest.dropWhile isNumeral).length =
      position + (c :: rest).length by simp only [run, List.length_cons]; omega]
  | case5 position c rest hblank h token htoken ih =>
    rw [List.cons_append, scanFrom_token hblank h htoken,
      ih (Apart.of_append [c] happart), hmap, List.length_cons,
      Nat.add_assoc position, Nat.add_comm 1]
  | case6 position c rest hblank h htoken =>
    rw [List.cons_append, scanFrom_invalid hblank h htoken]
    rfl

/-! ## 3. Scans at other places -/

end Lexeme

/-- The fault at another place, if it has one that can move. -/
def ExpressionError.moved (move : Nat → Nat) : ExpressionError → ExpressionError
  | invalidCharacter c p => invalidCharacter c (move p)
  | malformedNumber numeral p => malformedNumber numeral (move p)
  | lonePoint p => lonePoint (move p)
  | empty => empty
  | endsUnexpectedly p => endsUnexpectedly (move p)
  | unexpected text p => unexpected text (move p)
  | unmatchedOpen p => unmatchedOpen (move p)
  | unmatchedClose p => unmatchedClose (move p)
  | nestedTooDeeply => nestedTooDeeply

theorem ExpressionError.message_moved (move : Nat → Nat) (fault : ExpressionError) :
    (fault.moved move).message = fault.message := by
  cases fault <;> rfl

namespace Lexeme

/-- The lexeme at another place. -/
def moved (move : Nat → Nat) (lexeme : Lexeme) : Lexeme := ⟨lexeme.token, move lexeme.position⟩

/-- A scan with every place moved. -/
def relocate (move : Nat → Nat) (scanned : Except ExpressionError (List Lexeme)) :
    Except ExpressionError (List Lexeme) :=
  (scanned.map (List.map (moved move))).mapError (ExpressionError.moved move)

theorem relocate_cons (move : Nat → Nat) (lexeme : Lexeme)
    (scanned : Except ExpressionError (List Lexeme)) :
    relocate move (scanned.map (lexeme :: ·)) =
      (relocate move scanned).map (lexeme.moved move :: ·) := by
  cases scanned <;> rfl

theorem numeralFault?_moved (move : Nat → Nat) (run : List Char) (position : Nat) :
    numeralFault? run (move position) =
      (numeralFault? run position).map (ExpressionError.moved move) := by
  unfold numeralFault?
  split
  · rfl
  · split
    · rfl
    · rfl

/-- **The same text at another place has the same scan with its places moved.** -/
theorem relocate_scanFrom {move : Nat → Nat} {text : List Char} {p q : Nat}
    (h : ∀ i < text.length, move (p + i) = q + i) :
    relocate move (scanFrom p text) = scanFrom q text := by
  fun_induction scanFrom p text generalizing q with
  | case1 p =>
    rw [scanFrom_nil]
    rfl
  | case2 p c rest hblank ih =>
    rw [scanFrom_blank hblank]
    refine ih fun i hi => ?_
    have hmove := h (1 + i) (by rw [List.length_cons]; omega)
    rwa [← Nat.add_assoc, ← Nat.add_assoc] at hmove
  | case3 p c rest hblank hc run fault =>
    rename_i hfault
    have hplace : move p = q := h 0 (Nat.succ_pos _)
    have hmoved : numeralFault? (c :: rest.takeWhile isNumeral) q = some (fault.moved move) := by
      rw [← hplace, numeralFault?_moved, hfault]
      rfl
    rw [scanFrom_fault hblank hc hmoved]
    rfl
  | case4 p c rest hblank hc run hfault =>
    rename_i ih
    have hplace : move p = q := h 0 (Nat.succ_pos _)
    have hlength := length_takeWhile_add_dropWhile rest
    rw [scanFrom_numeral hblank hc (by rw [← hplace, numeralFault?_moved, hfault]; rfl),
      relocate_cons]
    rw [ih (q := q + run.length) fun i hi => ?_, ← hplace]
    · rfl
    · have hmove := h (run.length + i) (by simp only [run, List.length_cons]; omega)
      rwa [← Nat.add_assoc, ← Nat.add_assoc] at hmove
  | case5 p c rest hblank hc token htoken ih =>
    have hplace : move p = q := h 0 (Nat.succ_pos _)
    rw [scanFrom_token hblank hc htoken, relocate_cons, ih (q := q + 1) fun i hi => ?_, ← hplace]
    · rfl
    · have hmove := h (1 + i) (by rw [List.length_cons]; omega)
      rwa [← Nat.add_assoc, ← Nat.add_assoc] at hmove
  | case6 p c rest hblank hc htoken =>
    have hplace : move p = q := h 0 (Nat.succ_pos _)
    rw [scanFrom_invalid hblank hc htoken, ← hplace]
    rfl

/-- What a scan says apart from places: its tokens, or a message. -/
def content (scanned : Except ExpressionError (List Lexeme)) : Except String (List Token) :=
  (scanned.map (List.map token)).mapError ExpressionError.message

theorem content_cons (lexeme : Lexeme) (scanned : Except ExpressionError (List Lexeme)) :
    content (scanned.map (lexeme :: ·)) = (content scanned).map (lexeme.token :: ·) := by
  cases scanned <;> rfl

theorem content_relocate (move : Nat → Nat) (scanned : Except ExpressionError (List Lexeme)) :
    content (relocate move scanned) = content scanned := by
  cases scanned with
  | error fault => exact congrArg Except.error (fault.message_moved move)
  | ok lexemes =>
    refine congrArg Except.ok ?_
    rw [List.map_map]
    rfl

/-- **The content of a scan does not depend on the place of the text.** -/
theorem content_scanFrom (text : List Char) (p q : Nat) :
    content (scanFrom p text) = content (scanFrom q text) := by
  have hmoved : relocate (fun place => place - p + q) (scanFrom p text) = scanFrom q text :=
    relocate_scanFrom fun i _ => by omega
  rw [← hmoved, content_relocate]

/-! ## 4. Single characters -/

theorem written_of_ofChar? {c : Char} {token : Token} (h : Token.ofChar? c = some token) :
    c ∈ "+-*/()".toList ∧ token.text = [c] := by
  unfold Token.ofChar? at h
  split at h
  · cases h
    decide
  · cases h
    decide
  · obtain ⟨op, hop, rfl⟩ := Option.map_eq_some_iff.1 h
    unfold Operator.ofChar? at hop
    split at hop
    · cases hop
      decide
    · cases hop
      decide
    · cases hop
      decide
    · cases hop
      decide
    · cases hop

/-- A character that is a token by itself separates nothing and is in no numeral. -/
theorem separate_of_ofChar? {c : Char} {token : Token} (h : Token.ofChar? c = some token) :
    Text.isBlank c = false ∧ isNumeral c = false := by
  have hall : "+-*/()".toList.all (fun c => !Text.isBlank c && !isNumeral c) = true := by decide
  simpa using List.all_eq_true.1 hall c (written_of_ofChar? h).1

theorem ofChar?_symbol (op : Operator) : Token.ofChar? op.symbol = some (.operator op) := by
  cases op <;> rfl

theorem scanFrom_of_ofChar? {c : Char} {token : Token} (h : Token.ofChar? c = some token)
    (position : Nat) (rest : List Char) :
    scanFrom position (c :: rest) =
      (scanFrom (position + 1) rest).map (⟨token, position⟩ :: ·) := by
  obtain ⟨hblank, hnumeral⟩ := separate_of_ofChar? h
  exact scanFrom_token (by simp [hblank]) (by simp [hnumeral]) h

/-- What is scanned consists of blanks, characters of numerals and tokens of one character. -/
theorem readable_of_scanFrom {position : Nat} {text : List Char} {lexemes : List Lexeme}
    (h : scanFrom position text = .ok lexemes) :
    ∀ c ∈ text, Text.isBlank c = true ∨ isNumeral c = true ∨
      ∃ token, Token.ofChar? c = some token := by
  fun_induction scanFrom position text generalizing lexemes with
  | case1 => exact fun c hc => nomatch hc
  | case2 position c rest hblank ih =>
    exact List.forall_mem_cons.2 ⟨.inl hblank, ih h⟩
  | case3 => cases h
  | case4 position c rest hblank hnumeral run hfault =>
    rename_i ih
    obtain ⟨others, hothers, -⟩ := map_eq_ok.1 h
    refine List.forall_mem_cons.2 ⟨.inr (.inl hnumeral), fun d hd => ?_⟩
    rw [← List.takeWhile_append_dropWhile (p := isNumeral) (l := rest), List.mem_append] at hd
    rcases hd with hd | hd
    · exact .inr (.inl (List.all_eq_true.1 List.all_takeWhile d hd))
    · exact ih hothers d hd
  | case5 position c rest hblank hnumeral token htoken ih =>
    obtain ⟨others, hothers, -⟩ := map_eq_ok.1 h
    exact List.forall_mem_cons.2 ⟨.inr (.inr ⟨token, htoken⟩), ih hothers⟩
  | case6 => cases h

/-! ## 5. Numbers -/

theorem isNumeral_of_isDigit {c : Char} (h : c.isDigit = true) : isNumeral c = true := by
  unfold isNumeral
  rw [h]
  rfl

theorem not_isBlank_of_isDigit {c : Char} (h : c.isDigit = true) : ¬Text.isBlank c = true := by
  rw [Char.isDigit_iff_toNat] at h
  have hzero : '0'.toNat = 48 := rfl
  have hnine : '9'.toNat = 57 := rfl
  simp only [Text.isBlank, Text.inRanges, Text.blankRanges, List.any_cons, List.any_nil,
    Bool.or_eq_true, Bool.and_eq_true, decide_eq_true_eq, Bool.or_false]
  omega

/-- **A number in positional notation is one lexeme.** -/
theorem scanFrom_positional {text : List Char} (h : Decimal.Positional text) (position : Nat) :
    scanFrom position text = .ok [⟨.number text, position⟩] := by
  have hcount := h.count_point_le
  have hall : ∀ c ∈ text, isNumeral c = true := by
    intro c hc
    rcases h.isDigit_or_point hc with hdigit | rfl
    · exact isNumeral_of_isDigit hdigit
    · rfl
  obtain ⟨c, rest, rfl, hdigit⟩ := h.exists_cons
  have hrest : ∀ d ∈ rest, isNumeral d = true := fun d hd => hall d (List.mem_cons_of_mem c hd)
  have htake : (rest ++ []).takeWhile isNumeral = rest ++ [] :=
    List.takeWhile_append_of_pos hrest
  have hdrop : (rest ++ []).dropWhile isNumeral = [] := List.dropWhile_append_of_pos hrest
  rw [List.append_nil] at htake hdrop
  have hfault : numeralFault? (c :: rest.takeWhile isNumeral) position = none := by
    rw [htake]
    unfold numeralFault?
    rw [if_neg (Nat.not_lt.2 hcount), if_neg]
    intro hpoint
    cases hpoint
    cases hdigit
  rw [scanFrom_numeral (not_isBlank_of_isDigit hdigit) (hall c (List.mem_cons_self ..)) hfault,
    htake, hdrop, scanFrom_nil]
  rfl

end Lexeme

end DeskCalc
