import DeskCalc.Proofs.Binary64
import DeskCalc.Proofs.Expression.Diagnosis
import DeskCalc.Proofs.Expression.Scanning

/-!
# One operand in place of another

Two texts that begin with an operand, go on with the same operator and the same characters behind
it, and whose operands have alike values, come to the same: alike values, or faults with the same
message. This file fixes

* `Writes`: a text whose tokens are those of a derivation;
* `Watch.run_similar`: the words of a complaint depend on the tokens alone;
* `first_eq_of_tokens`: an operand at the beginning of a sum is its first operand, for every
  derivation of the sum;
* **`evaluate_operand_alike`**: the main statement, where nesting is not too deep.
-/

namespace DeskCalc

/-! ## 1. Texts of derivations -/

namespace Lexeme

theorem content_append_cons {stop : Char} (hstop : isNumeral stop = false)
    (before behind : List Char) :
    content (scanFrom 0 (before ++ stop :: behind)) =
      (content (scanFrom 0 before)).bind fun tokens =>
        (content (scanFrom 0 (stop :: behind))).map (tokens ++ ·) := by
  rw [scanFrom_append (apart_cons hstop before behind),
    content_scanFrom (stop :: behind) 0 (0 + before.length)]
  generalize scanFrom (0 + before.length) (stop :: behind) = scanned
  cases scanFrom 0 before with
  | error fault => rfl
  | ok lexemes =>
    cases scanned with
    | error fault => rfl
    | ok more => exact congrArg Except.ok List.map_append

theorem content_of_ofChar? {c : Char} {token : Token} (h : Token.ofChar? c = some token)
    (rest : List Char) :
    content (scanFrom 0 (c :: rest)) = (content (scanFrom 0 rest)).map (token :: ·) := by
  rw [scanFrom_of_ofChar? h, content_cons, content_scanFrom rest (0 + 1) 0]

theorem content_eq_error {scanned : Except ExpressionError (List Lexeme)} {message : String}
    (h : content scanned = .error message) :
    ∃ fault, scanned = .error fault ∧ fault.message = message := by
  cases scanned with
  | error fault =>
    cases h
    exact ⟨fault, rfl, rfl⟩
  | ok lexemes => cases h

end Lexeme

namespace Expression

/-- The tokens of the text are those of the derivation. -/
def Writes (text : List Char) {level : Level} (d : Derivation level) : Prop :=
  Lexeme.content (Lexeme.scanFrom 0 text) = .ok d.tokens

theorem Writes.number {text : List Char} (h : Decimal.Positional text) :
    Writes text (.number text) := by
  unfold Writes
  rw [Lexeme.scanFrom_positional h]
  rfl

theorem Writes.negate {text : List Char} {d : Derivation .operand} (h : Writes text d) :
    Writes ('-' :: text) (.negate d) := by
  have hsign : Token.ofChar? '-' = some (.operator .subtract) := rfl
  unfold Writes at *
  rw [Lexeme.content_of_ofChar? hsign, h]
  rfl

theorem Writes.group {text : List Char} {d : Derivation .sum} (h : Writes text d) :
    Writes ('(' :: (text ++ [')'])) (.group d) := by
  have hclose : Token.ofChar? ')' = some .closeParen := rfl
  have hopen : Token.ofChar? '(' = some .openParen := rfl
  unfold Writes at *
  rw [Lexeme.content_of_ofChar? hopen,
    Lexeme.content_append_cons (Lexeme.separate_of_ofChar? hclose).2, h,
    Lexeme.content_of_ofChar? hclose, Lexeme.scanFrom_nil]
  rfl

/-- Behind an operand's text and an operator, the tokens go on with those of the rest. -/
theorem Writes.content_append {text : List Char} {d : Derivation .operand} (h : Writes text d)
    (op : Operator) (rest : List Char) :
    Lexeme.content (Lexeme.scanFrom 0 (text ++ op.symbol :: rest)) =
      (Lexeme.content (Lexeme.scanFrom 0 rest)).map (d.tokens ++ .operator op :: ·) := by
  have hop := Lexeme.ofChar?_symbol op
  unfold Writes at h
  rw [Lexeme.content_append_cons (Lexeme.separate_of_ofChar? hop).2, h,
    Lexeme.content_of_ofChar? hop]
  cases Lexeme.content (Lexeme.scanFrom 0 rest) <;> rfl

/-- A text with tokens has a scan with those tokens. -/
theorem exists_scan_of_content {text : List Char} {tokens : List Token}
    (h : Lexeme.content (Lexeme.scanFrom 0 text) = .ok tokens) :
    ∃ scan, Scan.ofText text = .ok scan ∧ scan.lexemes.map Lexeme.token = tokens := by
  unfold Scan.ofText
  cases hscan : Lexeme.scanFrom 0 text with
  | error fault =>
    rw [hscan] at h
    cases h
  | ok lexemes =>
    rw [hscan] at h
    cases h
    exact ⟨_, rfl, rfl⟩

/-- A derivation that is not nested too deeply is read from its text. -/
theorem Writes.parse_eq {text : List Char} {d : Derivation .sum} (h : Writes text d)
    (hd : d.nesting ≤ nestingAllowance) : parse (String.ofList text) = .ok d.tree := by
  obtain ⟨scan, hscan, htokens⟩ := exists_scan_of_content h
  rw [← String.toList_ofList (l := text)] at hscan
  rw [parse_eq_ofScan hscan, ofScan_eq_ok_iff]
  exact ⟨d, htokens.symm, rfl, hd⟩

/-- What is read from a text is what it writes. -/
theorem exists_writes_of_parse {text : String} {tree : Tree} (h : parse text = .ok tree) :
    ∃ d : Derivation .sum, Writes text.toList d ∧ d.tree = tree := by
  unfold parse at h
  obtain ⟨scan, hscan, hread⟩ := bind_eq_ok.1 h
  obtain ⟨lexemes, hlexemes, rfl⟩ := map_eq_ok.1 hscan
  obtain ⟨d, htokens, htree, _⟩ := ofScan_eq_ok_iff.1 hread
  refine ⟨d, ?_, htree⟩
  unfold Writes
  rw [hlexemes, htokens]
  rfl

/-! ## 2. Messages -/

/-- Two watches that expect the same and have as many open parentheses. -/
structure Watch.Similar (watch watch' : Watch) : Prop where
  expects : watch.expects = watch'.expects
  opened : watch.opened.length = watch'.opened.length

/-- What a watch says, without the place. -/
def Watch.message {α : Type} (said : Except Report α) : Except String α :=
  said.mapError Report.message

/-- Similar watches say the same about one token, and stay similar. -/
theorem Watch.step_similar {watch watch' : Watch} (h : Similar watch watch')
    (token : Token) (p q : Nat) :
    match watch.step ⟨token, p⟩, watch'.step ⟨token, q⟩ with
    | .ok next, .ok next' => Similar next next'
    | .error report, .error report' => report.message = report'.message
    | _, _ => False := by
  obtain ⟨expects, opened⟩ := watch
  obtain ⟨expects', opened'⟩ := watch'
  obtain ⟨rfl, hopened⟩ := h
  cases expects with
  | operand =>
    cases token with
    | number numeral => exact ⟨rfl, hopened⟩
    | operator op =>
      cases op with
      | subtract => exact ⟨rfl, hopened⟩
      | add => rfl
      | multiply => rfl
      | divide => rfl
    | openParen => exact ⟨rfl, congrArg Nat.succ hopened⟩
    | closeParen => rfl
  | operator =>
    cases opened with
    | nil =>
      cases List.length_eq_zero_iff.1 hopened.symm
      cases token with
      | number numeral => rfl
      | operator op => exact ⟨rfl, rfl⟩
      | openParen => rfl
      | closeParen => rfl
    | cons place places =>
      obtain ⟨place', places', rfl⟩ := List.exists_cons_of_length_eq_add_one hopened.symm
      cases token with
      | number numeral => rfl
      | operator op => exact ⟨rfl, hopened⟩
      | openParen => rfl
      | closeParen => exact ⟨rfl, Nat.succ.inj hopened⟩

/-- Similar watches say the same about the end of a text. -/
theorem Watch.finish_similar {watch watch' : Watch} (h : Similar watch watch')
    (ending ending' : Nat) :
    message (watch.finish ending) = message (watch'.finish ending') := by
  obtain ⟨expects, opened⟩ := watch
  obtain ⟨expects', opened'⟩ := watch'
  obtain ⟨rfl, hopened⟩ := h
  cases expects with
  | operand => rfl
  | operator =>
    cases opened with
    | nil =>
      cases List.length_eq_zero_iff.1 hopened.symm
      rfl
    | cons place places =>
      obtain ⟨place', places', rfl⟩ := List.exists_cons_of_length_eq_add_one hopened.symm
      rfl

/-- **The words of a complaint depend on the tokens alone.** -/
theorem Watch.run_similar {watch watch' : Watch} (h : Similar watch watch')
    {lexemes lexemes' : List Lexeme}
    (htokens : lexemes.map Lexeme.token = lexemes'.map Lexeme.token) (ending ending' : Nat) :
    message (watch.run ending lexemes) = message (watch'.run ending' lexemes') := by
  induction lexemes generalizing watch watch' lexemes' with
  | nil =>
    cases List.map_eq_nil_iff.1 htokens.symm
    exact finish_similar h ending ending'
  | cons lexeme rest ih =>
    obtain ⟨lexeme', rest', rfl, htoken, hrest⟩ := List.map_eq_cons_iff.1 htokens.symm
    obtain ⟨token, p⟩ := lexeme
    obtain ⟨token', q⟩ := lexeme'
    cases htoken
    have hstep := step_similar h token p q
    show message ((watch.step ⟨token, p⟩).bind _) = message ((watch'.step ⟨token, q⟩).bind _)
    revert hstep
    cases watch.step ⟨token, p⟩ with
    | error report =>
      cases watch'.step ⟨token, q⟩ with
      | error report' => exact fun hstep => congrArg Except.error hstep
      | ok next' => exact fun hstep => hstep.elim
    | ok next =>
      cases watch'.step ⟨token, q⟩ with
      | error report' => exact fun hstep => hstep.elim
      | ok next' => exact fun hstep => ih hstep hrest.symm

/-- Behind an operand the watch expects an operator. -/
theorem Watch.run_operand (ending : Nat) (d : Derivation .operand) {read : List Lexeme}
    (hread : read.map Lexeme.token = d.tokens) (rest : List Lexeme) :
    Watch.start.run ending (read ++ rest) = Watch.run ending ⟨.operator, []⟩ rest := by
  have hagrees := operand_watched ending d.nesting [] (read ++ rest)
  rw [Expression.readable ending d (Nat.le_refl _) read rest hread] at hagrees
  exact hagrees

/-- What a scan comes to and the words of its verdict. -/
theorem message_verdict_of_ok {scan : Scan} {tree : Tree} (h : ofScan scan = .ok tree) :
    Watch.message (verdict scan) = .ok () := by
  have hagrees := ofScan_agrees scan
  rw [h] at hagrees
  exact congrArg Watch.message hagrees

theorem message_verdict_of_error {scan : Scan} {fault : ExpressionError}
    (h : ofScan scan = .error fault) (shallow : fault ≠ .nestedTooDeeply) :
    Watch.message (verdict scan) = .error fault.message := by
  have hagrees := ofScan_agrees scan
  rw [h] at hagrees
  obtain ⟨report, hreport, hverdict⟩ := hagrees shallow
  obtain ⟨position, _, rfl⟩ := Option.map_eq_some_iff.1 hreport
  exact congrArg Watch.message hverdict

/-! ## 3. The first operand -/

/-- An operand at the beginning of a sum is its first operand. -/
theorem first_eq_of_tokens {s : Derivation .sum} {d : Derivation .operand} {more : List Token}
    (h : s.tokens = d.tokens ++ more) : s.first.tree = d.tree ∧ s.behindFirst = more := by
  have hfirst := readable 0 s.first (Nat.le_max_left s.first.nesting d.nesting)
    (s.first.tokens.map (Lexeme.mk · 0)) (s.behindFirst.map (Lexeme.mk · 0)) (map_token_mk _)
  have hd := readable 0 d (Nat.le_max_right s.first.nesting d.nesting)
    (d.tokens.map (Lexeme.mk · 0)) (more.map (Lexeme.mk · 0)) (map_token_mk _)
  -- the two readings are of one input
  rw [← List.map_append, ← Derivation.tokens_eq_first_append, h, List.map_append, hd] at hfirst
  obtain ⟨htree, hbehind⟩ := Prod.mk.inj (Except.ok.inj hfirst)
  refine ⟨htree.symm, ?_⟩
  rw [← map_token_mk more, hbehind, map_token_mk]

/-- **Alike first operands make alike values.** -/
theorem value_withFirst_alike {level : Level} (d : Derivation level) {operand : Derivation .operand}
    (h : d.first.tree.value.Alike operand.tree.value) :
    d.tree.value.Alike (d.withFirst operand).tree.value := by
  induction d with
  | negate inner => exact h
  | number numeral => exact h
  | group inner => exact h
  | factor only => exact h
  | times left op fits right ihLeft => exact Binary64.apply_alike op (ihLeft h) _
  | summand only ih => exact ih h
  | plus left op fits right ihLeft => exact Binary64.apply_alike op (ihLeft h) _

/-! ## 4. Values and faults -/

/-- Alike values, or faults with one message. -/
inductive AlikeOutcome :
    Except ExpressionError Binary64 → Except ExpressionError Binary64 → Prop where
  | value {x y : Binary64} (h : x.Alike y) : AlikeOutcome (.ok x) (.ok y)
  | fault {fault fault' : ExpressionError} (h : fault.message = fault'.message) :
      AlikeOutcome (.error fault) (.error fault')

theorem evaluate_of_scanFrom_error {text : String} {fault : ExpressionError}
    (h : Lexeme.scanFrom 0 text.toList = .error fault) : evaluate text = .error fault := by
  unfold evaluate parse Scan.ofText
  rw [h]
  rfl

/-- A scanned text that is not nested too deeply has the value of its tree or the fault of its
    reading. -/
theorem evaluate_cases {text : String} {scan : Scan} (h : Scan.ofText text.toList = .ok scan)
    (shallow : evaluate text ≠ .error .nestedTooDeeply) :
    (∃ tree, ofScan scan = .ok tree ∧ evaluate text = .ok tree.value) ∨
      ∃ fault, ofScan scan = .error fault ∧ fault ≠ .nestedTooDeeply ∧
        evaluate text = .error fault := by
  unfold evaluate at *
  rw [parse_eq_ofScan h] at *
  cases hread : ofScan scan with
  | error fault =>
    rw [hread] at shallow
    refine .inr ⟨fault, rfl, ?_, rfl⟩
    rintro rfl
    exact shallow rfl
  | ok tree =>
    rw [hread] at shallow
    refine .inl ⟨tree, rfl, if_pos ?_⟩
    by_cases hheight : tree.height ≤ heightLimit
    · exact hheight
    · exact absurd (if_neg hheight) shallow

section Replace

variable {d e : Derivation .operand} {op : Operator} {more : List Token} {scan scan' : Scan}
  (hscan : scan.lexemes.map Lexeme.token = d.tokens ++ .operator op :: more)
  (hscan' : scan'.lexemes.map Lexeme.token = e.tokens ++ .operator op :: more)

include hscan in
/-- The verdict over an operand and what follows is that over what follows. -/
theorem exists_verdict_eq : ∃ rest, rest.map Lexeme.token = .operator op :: more ∧
    verdict scan = Watch.run scan.ending ⟨.operator, []⟩ rest := by
  obtain ⟨read, rest, hlexemes, hread, hrest⟩ := List.map_eq_append_iff.1 hscan
  refine ⟨rest, hrest, ?_⟩
  unfold verdict
  rw [if_neg, hlexemes, Watch.run_operand _ d hread]
  intro hnil
  rw [hnil] at hscan
  simp at hscan

include hscan hscan' in
theorem message_verdict_eq : Watch.message (verdict scan) = Watch.message (verdict scan') := by
  obtain ⟨rest, hrest, hverdict⟩ := exists_verdict_eq hscan
  obtain ⟨rest', hrest', hverdict'⟩ := exists_verdict_eq hscan'
  rw [hverdict, hverdict']
  exact Watch.run_similar ⟨rfl, rfl⟩ (hrest.trans hrest'.symm) _ _

include hscan hscan' in
/-- Trees of the two scans have alike values. -/
theorem value_ofScan_alike (h : d.tree.value.Alike e.tree.value) {tree tree' : Tree}
    (hread : ofScan scan = .ok tree) (hread' : ofScan scan' = .ok tree') :
    tree.value.Alike tree'.value := by
  obtain ⟨s, htokens, rfl, _⟩ := ofScan_eq_ok_iff.1 hread
  obtain ⟨s', htokens', rfl, _⟩ := ofScan_eq_ok_iff.1 hread'
  obtain ⟨hfirst, hbehind⟩ := first_eq_of_tokens (htokens.trans hscan)
  have hreplaced : s'.tree = (s.withFirst e).tree := by
    apply tree_eq_of_tokens_eq
    rw [htokens', hscan', Derivation.tokens_withFirst, hbehind]
  rw [hreplaced]
  apply value_withFirst_alike
  rw [hfirst]
  exact h

include hscan hscan' in
/-- The two scans come to the same. -/
theorem evaluate_scan_alike (alike : d.tree.value.Alike e.tree.value) {text text' : String}
    (h : Scan.ofText text.toList = .ok scan) (h' : Scan.ofText text'.toList = .ok scan')
    (shallow : evaluate text ≠ .error .nestedTooDeeply)
    (shallow' : evaluate text' ≠ .error .nestedTooDeeply) :
    AlikeOutcome (evaluate text) (evaluate text') := by
  have hverdict := message_verdict_eq hscan hscan'
  rcases evaluate_cases h shallow with ⟨tree, hread, hvalue⟩ | ⟨fault, hread, hfault, hvalue⟩
  · rcases evaluate_cases h' shallow' with
      ⟨tree', hread', hvalue'⟩ | ⟨fault', hread', hfault', hvalue'⟩
    · rw [hvalue, hvalue']
      exact .value (value_ofScan_alike hscan hscan' alike hread hread')
    · rw [message_verdict_of_ok hread, message_verdict_of_error hread' hfault'] at hverdict
      cases hverdict
  · rcases evaluate_cases h' shallow' with
      ⟨tree', hread', hvalue'⟩ | ⟨fault', hread', hfault', hvalue'⟩
    · rw [message_verdict_of_error hread hfault, message_verdict_of_ok hread'] at hverdict
      cases hverdict
    · rw [message_verdict_of_error hread hfault, message_verdict_of_error hread' hfault']
        at hverdict
      rw [hvalue, hvalue']
      exact .fault (Except.error.inj hverdict)

end Replace

/-- **Operands of alike values can stand for one another** in front of an operator and anything
    else, where neither text is nested too deeply. -/
theorem evaluate_operand_alike {text text' : List Char} {d e : Derivation .operand}
    (hd : Writes text d) (he : Writes text' e) (alike : d.tree.value.Alike e.tree.value)
    (op : Operator) (rest : List Char)
    (shallow : evaluate (String.ofList (text ++ op.symbol :: rest)) ≠ .error .nestedTooDeeply)
    (shallow' : evaluate (String.ofList (text' ++ op.symbol :: rest)) ≠ .error .nestedTooDeeply) :
    AlikeOutcome (evaluate (String.ofList (text ++ op.symbol :: rest)))
      (evaluate (String.ofList (text' ++ op.symbol :: rest))) := by
  have hcontent := hd.content_append op rest
  have hcontent' := he.content_append op rest
  rw [← String.toList_ofList (l := text ++ op.symbol :: rest)] at hcontent
  rw [← String.toList_ofList (l := text' ++ op.symbol :: rest)] at hcontent'
  cases hrest : Lexeme.content (Lexeme.scanFrom 0 rest) with
  | error message =>
    rw [hrest] at hcontent hcontent'
    obtain ⟨fault, hscan, hmessage⟩ := Lexeme.content_eq_error hcontent
    obtain ⟨fault', hscan', hmessage'⟩ := Lexeme.content_eq_error hcontent'
    rw [evaluate_of_scanFrom_error hscan, evaluate_of_scanFrom_error hscan']
    exact .fault (hmessage.trans hmessage'.symm)
  | ok more =>
    rw [hrest] at hcontent hcontent'
    obtain ⟨scan, hscan, htokens⟩ := exists_scan_of_content hcontent
    obtain ⟨scan', hscan', htokens'⟩ := exists_scan_of_content hcontent'
    exact evaluate_scan_alike htokens htokens' alike hscan hscan' shallow shallow'

end Expression

end DeskCalc
