import DeskCalc.Proofs.Expression.Parsing

/-!
# Where an expression goes wrong

A watch reads the lexemes once from left to right. It builds no tree: it remembers whether an
operand or an operator comes next, and where the parentheses opened that are still open. This file
fixes

* `Watch.step` and `Watch.finish`: what a watch makes of one lexeme, and of the end of the text;
* `Watch.run` and `verdict`: the first complaint about a text, if there is one;
* `Watch.readable`: the lexemes in front of the one that is complained about.

The readers and the watch agree (`Agrees`): where a reader succeeds, the watch stands behind what
was read and expects an operator; where it fails, the watch complains in the same words about the
same place. Main statement: `parse_fault_eq_verdict`, for every fault but too deep nesting, together
with the fact that the lexemes in front of the place of detection begin an expression.
-/

namespace DeskCalc

namespace Expression

/-! ## 1. The watch -/

/-- A complaint about a text. -/
structure Report where
  message : String
  position : Nat
  deriving DecidableEq, Repr

/-- What may come next. -/
inductive Expectation where
  | operand
  | operator
  deriving DecidableEq, Repr

structure Watch where
  expects : Expectation
  /-- The places of the open parentheses, the innermost first. -/
  opened : List Nat
  deriving DecidableEq, Repr

namespace Watch

/-- Before the first lexeme. -/
def start : Watch := ⟨.operand, []⟩

/-- The complaint about a token that may not stand at its place. -/
def unexpected (token : Token) (position : Nat) : Report :=
  ⟨"Unexpected '" ++ String.ofList token.text ++ "'", position⟩

/-- Reads one lexeme. -/
def step : Watch → Lexeme → Except Report Watch
  | ⟨.operand, opened⟩, ⟨.operator .subtract, _⟩ => .ok ⟨.operand, opened⟩
  | ⟨.operand, opened⟩, ⟨.number _, _⟩ => .ok ⟨.operator, opened⟩
  | ⟨.operand, opened⟩, ⟨.openParen, position⟩ => .ok ⟨.operand, position :: opened⟩
  | ⟨.operand, _⟩, ⟨token, position⟩ => .error (unexpected token position)
  | ⟨.operator, opened⟩, ⟨.operator _, _⟩ => .ok ⟨.operand, opened⟩
  | ⟨.operator, _ :: opened⟩, ⟨.closeParen, _⟩ => .ok ⟨.operator, opened⟩
  | ⟨.operator, innermost :: _⟩, _ => .error ⟨"Unmatched '('", innermost⟩
  | ⟨.operator, []⟩, ⟨.closeParen, position⟩ => .error ⟨"Unmatched ')'", position⟩
  | ⟨.operator, []⟩, ⟨token, position⟩ => .error (unexpected token position)

/-- Meets the end of the text at `ending`. -/
def finish (ending : Nat) : Watch → Except Report Unit
  | ⟨.operand, _⟩ => .error ⟨"Expression ends unexpectedly", ending⟩
  | ⟨.operator, innermost :: _⟩ => .error ⟨"Unmatched '('", innermost⟩
  | ⟨.operator, []⟩ => .ok ()

/-- Reads all lexemes and the end of the text. -/
def run (ending : Nat) : Watch → List Lexeme → Except Report Unit
  | watch, [] => watch.finish ending
  | watch, lexeme :: rest => (watch.step lexeme).bind fun next => run ending next rest

/-- The lexemes in front of the one that is complained about; all of them if there is none. -/
def readable : Watch → List Lexeme → List Lexeme
  | _, [] => []
  | watch, lexeme :: rest =>
    match watch.step lexeme with
    | .ok next => lexeme :: next.readable rest
    | .error _ => []

end Watch

/-- The first complaint about a text, if there is one. -/
def verdict (scan : Scan) : Except Report Unit :=
  if scan.lexemes = [] then .error ⟨"Empty expression", 0⟩
  else Watch.start.run scan.ending scan.lexemes

/-- The message and the place of a fault. -/
def report? (fault : ExpressionError) : Option Report :=
  fault.position?.map fun position => ⟨fault.message, position⟩

/-! ## 2. Where readers stop -/

/-- What holds of all that a reader leaves holds of what a chain leaves, and there no operator of
    the level comes next. -/
theorem run_chain_rest {level : Operator → Bool} {reader : Reader} (holds : List Lexeme → Prop)
    (hreader : ∀ {input rest tree}, reader.run input = .ok (tree, rest) → holds rest)
    {input rest : List Lexeme} {tree : Tree} (h : (chain level reader).run input = .ok (tree, rest)) :
    holds rest ∧ operatorNext level rest = false := by
  rw [run_chain, bind_eq_ok] at h
  obtain ⟨⟨left, behind⟩, hleft, h⟩ := h
  refine joinFrom_invariant (fun _ ahead => holds ahead)
    (fun reading => reading = .ok (tree, rest) → holds rest ∧ operatorNext level rest = false)
    ?_ ?_ ?_ (hreader hleft) h
  · intro left ahead hahead hstop h
    cases h
    exact ⟨hahead, hstop⟩
  · intro left op position ahead fault _ _ _ h
    cases h
  · intro left op position ahead right behind _ _ hright
    exact hreader hright

/-- Behind a sum stands no operator. -/
theorem run_sum_rest {reader : Reader} {input rest : List Lexeme} {tree : Tree}
    (h : (sum reader).run input = .ok (tree, rest)) (op : Operator) (position : Nat)
    (behind : List Lexeme) : rest ≠ ⟨.operator op, position⟩ :: behind := by
  rintro rfl
  have hproduct {input rest : List Lexeme} {tree : Tree}
      (h : (chain Operator.isMultiplicative reader).run input = .ok (tree, rest)) :
      operatorNext Operator.isMultiplicative rest = false :=
    (run_chain_rest (fun _ => True) (fun _ => trivial) h).2
  obtain ⟨hmul, hadd⟩ := run_chain_rest _ hproduct h
  have hadd : op.isAdditive = false := hadd
  have hmul : (!op.isAdditive) = false := hmul
  rw [hadd] at hmul
  cases hmul

/-! ## 3. Readers and the watch agree -/

/-- How the watch, whose verdict over the whole input is `before`, sees the end of a reading. -/
def Agrees (ending : Nat) (opened : List Nat) (before : Except Report Unit) : Reading → Prop
  | .ok (_, rest) => before = Watch.run ending ⟨.operator, opened⟩ rest
  | .error fault => fault ≠ .nestedTooDeeply →
      ∃ report, report? fault = some report ∧ before = .error report

/-- The watch agrees with the reader on every input, whatever parentheses are open. -/
def Watched (ending : Nat) (reader : Reader) : Prop :=
  ∀ opened input, Agrees ending opened (Watch.run ending ⟨.operand, opened⟩ input) (reader.run input)

theorem chain_watched {ending : Nat} {reader : Reader} (hreader : Watched ending reader)
    (level : Operator → Bool) : Watched ending (chain level reader) := by
  intro opened input
  rw [run_chain]
  have hfirst := hreader opened input
  cases hleft : reader.run input with
  | error fault =>
    rw [hleft] at hfirst
    exact hfirst
  | ok part =>
    obtain ⟨left, behind⟩ := part
    rw [hleft] at hfirst
    -- at every turn of the loop, the watch expects an operator and has said nothing
    refine joinFrom_invariant
      (fun _ ahead => Watch.run ending ⟨.operand, opened⟩ input =
        Watch.run ending ⟨.operator, opened⟩ ahead)
      (Agrees ending opened (Watch.run ending ⟨.operand, opened⟩ input)) ?_ ?_ ?_ hfirst
    · intro left ahead hinv _
      exact hinv
    · intro left op position ahead fault _ hinv hfault
      have hnext := hreader opened ahead
      rw [hfault] at hnext
      rw [hinv]
      exact hnext
    · intro left op position ahead right behind _ hinv hright
      have hnext := hreader opened ahead
      rw [hright] at hnext
      exact hinv.trans hnext

theorem operand_watched (ending allowance : Nat) : Watched ending (operand ending allowance) := by
  induction allowance using Nat.strongRecOn with
  | ind allowance ih =>
    intro opened input
    match input with
    | [] =>
      rw [run_operand_nil]
      exact fun _ => ⟨_, rfl, rfl⟩
    | ⟨.number numeral, position⟩ :: rest =>
      rw [run_operand_number]
      rfl
    | ⟨.closeParen, position⟩ :: rest =>
      rw [run_operand_close]
      exact fun _ => ⟨_, rfl, rfl⟩
    | ⟨.openParen, position⟩ :: rest =>
      rcases Nat.lt_or_ge allowance 4 with hlt | hge
      · rw [run_operand_open_short _ _ hlt]
        exact fun h => absurd rfl h
      · obtain ⟨allowance, rfl⟩ := Nat.exists_eq_add_of_le' hge
        rw [run_operand_open]
        have hinner : Watched ending (sum (operand ending allowance)) :=
          chain_watched (chain_watched (ih allowance (by omega)) _) _
        have hsum := hinner (position :: opened) rest
        cases hread : (sum (operand ending allowance)).run rest with
        | error fault =>
          rw [hread] at hsum
          exact hsum
        | ok part =>
          obtain ⟨tree, behind⟩ := part
          rw [hread] at hsum
          match behind with
          | [] => exact fun _ => ⟨_, rfl, hsum⟩
          | ⟨.closeParen, _⟩ :: _ => exact hsum
          | ⟨.openParen, _⟩ :: _ => exact fun _ => ⟨_, rfl, hsum⟩
          | ⟨.number _, _⟩ :: _ => exact fun _ => ⟨_, rfl, hsum⟩
          | ⟨.operator op, place⟩ :: behind => exact absurd rfl (run_sum_rest hread op place behind)
    | ⟨.operator op, position⟩ :: rest =>
      by_cases hop : op = .subtract
      · subst hop
        cases allowance with
        | zero =>
          rw [run_operand_sign_zero]
          exact fun h => absurd rfl h
        | succ allowance =>
          rw [run_operand_sign]
          have hinner := ih allowance (Nat.lt_succ_self _) opened rest
          cases hread : (operand ending allowance).run rest with
          | error fault =>
            rw [hread] at hinner
            exact hinner
          | ok part =>
            rw [hread] at hinner
            exact hinner
      · rw [run_operand_operator _ _ hop]
        refine fun _ => ⟨_, rfl, ?_⟩
        cases op with
        | subtract => exact absurd rfl hop
        | add => rfl
        | multiply => rfl
        | divide => rfl

theorem sum_watched (ending allowance : Nat) : Watched ending (sum (operand ending allowance)) :=
  chain_watched (chain_watched (operand_watched ending allowance) _) _

/-- What a scan comes to agrees with the verdict. -/
theorem ofScan_agrees (scan : Scan) :
    match ofScan scan with
    | .ok _ => verdict scan = .ok ()
    | .error fault => fault ≠ .nestedTooDeeply →
        ∃ report, report? fault = some report ∧ verdict scan = .error report := by
  unfold verdict
  by_cases hne : scan.lexemes = []
  · rw [ofScan_empty hne, if_pos hne]
    exact fun _ => ⟨_, rfl, rfl⟩
  · rw [ofScan_eq hne, if_neg hne]
    have hsum := sum_watched scan.ending nestingAllowance [] scan.lexemes
    cases hread : (sum (operand scan.ending nestingAllowance)).run scan.lexemes with
    | error fault =>
      rw [hread] at hsum
      exact hsum
    | ok part =>
      obtain ⟨tree, behind⟩ := part
      rw [hread] at hsum
      match behind with
      | [] => exact hsum
      | ⟨.closeParen, _⟩ :: _ => exact fun _ => ⟨_, rfl, hsum⟩
      | ⟨.openParen, _⟩ :: _ => exact fun _ => ⟨_, rfl, hsum⟩
      | ⟨.number _, _⟩ :: _ => exact fun _ => ⟨_, rfl, hsum⟩
      | ⟨.operator op, place⟩ :: behind => exact absurd rfl (run_sum_rest hread op place behind)

/-! ## 4. What the watch accepts is derivable -/

/-- The reader is not stopped by nesting on inputs up to the length. -/
def Roomy (length : Nat) (reader : Reader) : Prop :=
  ∀ input : List Lexeme, input.length ≤ length → reader.run input ≠ .error .nestedTooDeeply

theorem chain_roomy {length : Nat} {reader : Reader} (hreader : Roomy length reader)
    (level : Operator → Bool) : Roomy length (chain level reader) := by
  intro input hlength
  rw [run_chain]
  cases hleft : reader.run input with
  | error fault =>
    intro h
    exact hreader input hlength (hleft.trans h)
  | ok part =>
    obtain ⟨left, behind⟩ := part
    have hbehind := run_length_lt hleft
    refine joinFrom_invariant (fun _ ahead => ahead.length ≤ length)
      (fun reading => reading ≠ .error .nestedTooDeeply) ?_ ?_ ?_
      (Nat.le_trans (Nat.le_of_lt hbehind) hlength)
    · intro left ahead _ _ h
      cases h
    · intro left op position rest fault _ hinv hfault h
      have hrest : rest.length ≤ length := Nat.le_of_succ_le hinv
      exact hreader rest hrest (hfault.trans h)
    · intro left op position rest right behind _ hinv hright
      have hshorter := run_length_lt hright
      rw [List.length_cons] at hinv
      omega

/-- **An allowance of four for each lexeme is never used up.** -/
theorem operand_roomy (ending : Nat) {length allowance : Nat} (h : 4 * length ≤ allowance) :
    Roomy length (operand ending allowance) := by
  induction allowance using Nat.strongRecOn generalizing length with
  | ind allowance ih =>
    intro input hlength
    match input with
    | [] =>
      rw [run_operand_nil]
      exact fun h => nomatch h
    | ⟨.number numeral, position⟩ :: rest =>
      rw [run_operand_number]
      exact fun h => nomatch h
    | ⟨.closeParen, position⟩ :: rest =>
      rw [run_operand_close]
      exact fun h => nomatch h
    | ⟨.openParen, position⟩ :: rest =>
      rw [List.length_cons] at hlength
      obtain ⟨allowance, rfl⟩ := Nat.exists_eq_add_of_le' (show 4 ≤ allowance by omega)
      have hinner : Roomy rest.length (sum (operand ending allowance)) :=
        chain_roomy (chain_roomy (ih allowance (by omega) (by omega)) _) _
      rw [run_operand_open]
      intro hfault
      rcases bind_eq_error.1 hfault with hfault | ⟨part, _, hclose⟩
      · exact hinner rest (Nat.le_refl _) hfault
      · unfold closeGroup at hclose
        split at hclose <;> cases hclose
    | ⟨.operator op, position⟩ :: rest =>
      rw [List.length_cons] at hlength
      by_cases hop : op = .subtract
      · subst hop
        obtain ⟨allowance, rfl⟩ := Nat.exists_eq_add_of_le' (show 1 ≤ allowance by omega)
        rw [run_operand_sign]
        intro hfault
        have hinner : Roomy rest.length (operand ending allowance) :=
          ih allowance (Nat.lt_succ_self _) (by omega)
        exact hinner rest (Nat.le_refl _) (map_eq_error.1 hfault)
      · rw [run_operand_operator _ _ hop]
        exact fun h => nomatch h

/-- What the watch accepts is derived. -/
theorem exists_derivation_of_accepted {ending : Nat} {lexemes : List Lexeme}
    (h : Watch.start.run ending lexemes = .ok ()) :
    ∃ d : Derivation .sum, d.tokens = lexemes.map Lexeme.token := by
  have hroomy : Roomy lexemes.length (sum (operand ending (4 * lexemes.length))) :=
    chain_roomy (chain_roomy (operand_roomy ending (Nat.le_refl _)) _) _
  have hsum := sum_watched ending (4 * lexemes.length) [] lexemes
  have hstart : Watch.run ending ⟨.operand, []⟩ lexemes = .ok () := h
  rw [hstart] at hsum
  cases hread : (sum (operand ending (4 * lexemes.length))).run lexemes with
  | error fault =>
    rw [hread] at hsum
    have hfault : fault ≠ .nestedTooDeeply := by
      rintro rfl
      exact hroomy lexemes (Nat.le_refl _) hread
    obtain ⟨report, _, hcontra⟩ := hsum hfault
    cases hcontra
  | ok part =>
    obtain ⟨tree, rest⟩ := part
    obtain ⟨read, heq, d, htokens, _, _⟩ := sum_sound (operand_sound _ _) hread
    rw [hread] at hsum
    match rest with
    | [] =>
      rw [List.append_nil] at heq
      exact ⟨d, by rw [htokens, heq]⟩
    | ⟨.closeParen, _⟩ :: _ => cases hsum
    | ⟨.openParen, _⟩ :: _ => cases hsum
    | ⟨.number _, _⟩ :: _ => cases hsum
    | ⟨.operator op, place⟩ :: behind => exact absurd rfl (run_sum_rest hread op place behind)

/-! ## 5. What has been read begins an expression -/

namespace Watch

/-- Some state of the watch stands behind the readable lexemes. -/
theorem exists_behind_readable (ending : Nat) (watch : Watch) (lexemes : List Lexeme) :
    ∃ next : Watch, ∀ more,
      watch.run ending (watch.readable lexemes ++ more) = next.run ending more := by
  induction lexemes generalizing watch with
  | nil => exact ⟨watch, fun _ => rfl⟩
  | cons lexeme rest ih =>
    unfold readable
    cases hstep : watch.step lexeme with
    | error report => exact ⟨watch, fun _ => rfl⟩
    | ok next =>
      obtain ⟨last, hlast⟩ := ih next
      refine ⟨last, fun more => ?_⟩
      show (watch.step lexeme).bind _ = _
      rw [hstep]
      exact hlast more

/-- Closing all that is open ends an expression where an operator may come. -/
theorem run_closing (ending : Nat) (opened : List Nat) :
    run ending ⟨.operator, opened⟩ (List.replicate opened.length ⟨.closeParen, 0⟩) = .ok () := by
  induction opened with
  | nil => rfl
  | cons innermost opened ih => exact ih

/-- Every state of the watch can still come to a good end. -/
theorem exists_completion (ending : Nat) (watch : Watch) :
    ∃ more, watch.run ending more = .ok () := by
  obtain ⟨expects, opened⟩ := watch
  cases expects with
  | operator => exact ⟨_, run_closing ending opened⟩
  | operand => exact ⟨⟨.number ['1'], 0⟩ :: _, run_closing ending opened⟩

end Watch

/-- **What the watch reads without a complaint begins an expression.** -/
theorem exists_derivation_of_readable (lexemes : List Lexeme) :
    ∃ (d : Derivation .sum) (more : List Token),
      d.tokens = (Watch.start.readable lexemes).map Lexeme.token ++ more := by
  obtain ⟨next, hnext⟩ := Watch.start.exists_behind_readable 0 lexemes
  obtain ⟨more, hmore⟩ := next.exists_completion 0
  obtain ⟨d, hd⟩ := exists_derivation_of_accepted ((hnext more).trans hmore)
  exact ⟨d, more.map Lexeme.token, by rw [hd, List.map_append]⟩

/-! ## 6. The fault of a text -/

/-- **The fault of an ill-formed text is the first complaint of the watch**, in the same words and
    about the same place, unless the text is nested too deeply; and the tokens in front of the one
    at which the watch complains begin an expression. -/
theorem parse_fault_eq_verdict {text : String} {scan : Scan} {fault : ExpressionError}
    (scanned : Scan.ofText text.toList = .ok scan) (rejected : parse text = .error fault)
    (shallow : fault ≠ .nestedTooDeeply) :
    (∃ report, verdict scan = .error report ∧ fault.message = report.message ∧
      fault.position? = some report.position) ∧
    ∃ (d : Derivation .sum) (more : List Token),
      d.tokens = (Watch.start.readable scan.lexemes).map Lexeme.token ++ more := by
  refine ⟨?_, exists_derivation_of_readable scan.lexemes⟩
  have hagrees := ofScan_agrees scan
  rw [← parse_eq_ofScan scanned, rejected] at hagrees
  obtain ⟨report, hreport, hverdict⟩ := hagrees shallow
  obtain ⟨position, hposition, rfl⟩ := Option.map_eq_some_iff.1 hreport
  exact ⟨_, hverdict, rfl, hposition⟩

/-- Of two open parentheses the inner one is reported. -/
theorem parse_inner_open_reported :
    ∃ scan, Scan.ofText "(1+2*(3".toList = .ok scan ∧
      parse "(1+2*(3" = .error (.unmatchedOpen 5) ∧
      verdict scan = .error ⟨"Unmatched '('", 5⟩ := by
  have scanned : Scan.ofText "(1+2*(3".toList = .ok
      ⟨[⟨.openParen, 0⟩, ⟨.number ['1'], 1⟩, ⟨.operator .add, 2⟩, ⟨.number ['2'], 3⟩,
        ⟨.operator .multiply, 4⟩, ⟨.openParen, 5⟩, ⟨.number ['3'], 6⟩], 7⟩ :=
    eq_ok_of_toOption (by decide +kernel)
  have hadd : Operator.isAdditive .add = true := rfl
  have hmultiply : Operator.isMultiplicative .multiply = true := rfl
  have hplus (rest : List Lexeme) :
      operatorNext Operator.isMultiplicative (⟨.operator .add, 2⟩ :: rest) = false := rfl
  have hend (level : Operator → Bool) : operatorNext level [] = false := rfl
  have rejected : parse "(1+2*(3" = .error (.unmatchedOpen 5) := by
    rw [parse_eq_ofScan scanned, ofScan_eq (by decide)]
    simp [sum, nestingAllowance, run_chain, run_operand_open, run_operand_number,
      joinFrom_operator hadd, joinFrom_operator hmultiply, joinFrom_stop, hplus, hend, closeGroup,
      Except.bind]
  obtain ⟨⟨⟨message, position⟩, hverdict, hmessage, hposition⟩, _⟩ :=
    parse_fault_eq_verdict scanned rejected (by decide)
  cases hposition
  cases hmessage
  exact ⟨_, scanned, rejected, hverdict⟩

end Expression

end DeskCalc
